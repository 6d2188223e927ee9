import IKash.Errors
import IKash.Json
import Mathlib.Data.List.Nodup

/-!
# `HttpExceptionFilter`

The global filter answers every exception. It is there to give all of them the shape `{ statusCode, error, message }`, with
the status that is sent and an `ErrorCode`; but a response object that has fields of these three names is passed on as it
is.

- `normalised_shaped`: everything else gets the shape, and an `AppException` brings it along (`appException_shaped`);
- `passed_shaped_iff`: what is passed on;
- `described_unshaped`: so the exceptions of Nest and of the throttler keep their description for an error code;
- `shaped_iff`: which exceptions are answered in the shape.
-/

namespace IKash

/-! ## Exceptions -/

/-- An object whose fields may be `undefined`. -/
structure PlainObject where
  fields : List (String × Option Json)
  nodup : (fields.map Prod.fst).Nodup

namespace PlainObject

/-- `name in o` -/
def has (o : PlainObject) (name : String) : Bool := o.fields.any fun f => f.1 = name

/-- `o[name]` -/
def get (o : PlainObject) (name : String) : Option Json := (o.fields.lookup name).join

/-- What the client reads of it: an `undefined` field is not written. -/
def json (o : PlainObject) : Json := .obj (o.fields.filterMap fun f => f.2.map (Prod.mk f.1))

/-- The client reads the value of each field. -/
theorem field_json (o : PlainObject) (name : String) : o.json.field name = o.get name := by
  obtain ⟨fields, hnodup⟩ := o
  show (fields.filterMap fun f => f.2.map (Prod.mk f.1)).lookup name = (fields.lookup name).join
  induction fields with
  | nil => rfl
  | cons f fields ih =>
    obtain ⟨key, value⟩ := f
    obtain ⟨hkey, hrest⟩ := List.nodup_cons.mp hnodup
    have ih := ih hrest
    by_cases heq : name = key
    · subst heq
      have hnone : fields.lookup name = none :=
        List.lookup_eq_none_iff.mpr fun f hf => bne_iff_ne.mpr fun h => hkey (List.mem_map.mpr ⟨f, hf, h.symm⟩)
      cases value with
      | none =>
        rw [List.filterMap_cons_none rfl, ih, hnone, List.lookup_cons_self]
        rfl
      | some j =>
        show ((name, j) :: fields.filterMap fun f => f.2.map (Prod.mk f.1)).lookup name = _
        rw [List.lookup_cons_self, List.lookup_cons_self]
        rfl
    · have hne : (name == key) = false := beq_eq_false_iff_ne.mpr heq
      cases value with
      | none => rw [List.filterMap_cons_none rfl, ih, List.lookup_cons, hne]
      | some j =>
        show ((key, j) :: fields.filterMap fun f => f.2.map (Prod.mk f.1)).lookup name = _
        rw [List.lookup_cons, hne, ih, List.lookup_cons, hne]

end PlainObject

/-- An array is an object too, with the fields `0`, `1` and so on. -/
inductive ExceptionResponse where
  | string (s : String)
  | object (o : PlainObject)

structure HttpException where
  response : ExceptionResponse
  status : ℕ

/-- `HttpStatus` is inferred from the code when it is not given. -/
def AppException (errorCode : ErrorCode) (message : String) (statusCode : Option ℕ) : HttpException where
  response := .object
    ⟨[("statusCode", some (.num (statusCode.getD (errorCodeToHttpStatus errorCode)))), ("error", some (.str errorCode.text)),
      ("message", some (.str message))], show ["statusCode", "error", "message"].Nodup by decide⟩
  status := statusCode.getD (errorCodeToHttpStatus errorCode)

/-- `CustomThrottlerGuard.throwThrottlingException` -/
def throwThrottlingException : HttpException where
  response := .object
    ⟨[("statusCode", some (.num 429)), ("message", some (.str "Too many requests. Please try again later.")),
      ("error", some (.str "Too Many Requests"))], by decide⟩
  status := 429

/-- One of Nest's own exceptions with a message: a text, or an array of them. -/
def builtInException (status : ℕ) (message : Json) (description : String) : HttpException where
  response := .object
    ⟨[("message", some message), ("error", some (.str description)), ("statusCode", some (.num status))],
      show ["message", "error", "statusCode"].Nodup by decide⟩
  status := status

/-- Any other value is only logged. -/
inductive ThrownValue where
  | http (exception : HttpException)
  | other

/-! ## The filter -/

/-- What `response.status(status).json(body)` sends. -/
structure ErrorReply where
  status : ℕ
  body : Json

namespace HttpExceptionFilter

def extractMessage : ExceptionResponse → String
  | .string raw => raw
  | .object obj =>
    match obj.get "message", obj.get "error" with
    | some (.arr message), _ => Json.join "; " (Json.texts message)
    | some (.str message), _ => message
    | _, some (.str error) => error
    | _, _ => "An error occurred"

def httpStatusToErrorCode : ℕ → ErrorCode
  | 400 => .validationError
  | 401 => .unauthorizedAction
  | 403 => .unauthorizedAction
  | 404 => .resourceNotFound
  | 422 => .validationError
  | 500 => .internalServerError
  | 502 => .internalServerError
  | 503 => .internalServerError
  | _ => .internalServerError

/-- The body of the filter's own making. -/
def shape (status : ℕ) (error : ErrorCode) (message : String) : ErrorReply :=
  ⟨status, .obj [("statusCode", .num status), ("error", .str error.text), ("message", .str message)]⟩

/-- The test of the pass-through branch. -/
def looksComplete : ExceptionResponse → Bool
  | .string _ => false
  | .object raw => raw.has "error" && raw.has "message" && raw.has "statusCode"

end HttpExceptionFilter

open HttpExceptionFilter in
/-- An object that looks complete is passed on. -/
def HttpExceptionFilter.catch : ThrownValue → ErrorReply
  | .http ⟨.object raw, status⟩ =>
    if looksComplete (.object raw) then ⟨status, raw.json⟩
    else shape status (httpStatusToErrorCode status) (extractMessage (.object raw))
  | .http ⟨.string raw, status⟩ => shape status (httpStatusToErrorCode status) (extractMessage (.string raw))
  | .other => shape 500 .internalServerError "An unexpected error occurred"

/-! ## The shape -/

/-- The status that is sent, an error code and a text. -/
structure Shaped (reply : ErrorReply) : Prop where
  statusCode : reply.body.field "statusCode" = some (.num reply.status)
  error : ∃ code : ErrorCode, reply.body.field "error" = some (.str code.text)
  message : ∃ message : String, reply.body.field "message" = some (.str message)

section Catch

open HttpExceptionFilter

variable {status : ℕ} {raw : PlainObject}

/-- The filter's own body has it. -/
theorem shape_shaped (status : ℕ) (error : ErrorCode) (message : String) : Shaped (shape status error message) :=
  ⟨rfl, ⟨error, rfl⟩, ⟨message, rfl⟩⟩

/-- **Whatever does not look complete** is given the shape. -/
theorem normalised_shaped {response : ExceptionResponse} (h : looksComplete response = false) :
    Shaped (HttpExceptionFilter.catch (.http ⟨response, status⟩)) := by
  cases response with
  | string raw => exact shape_shaped _ _ _
  | object raw =>
    rw [HttpExceptionFilter.catch, h]
    exact shape_shaped _ _ _

theorem catch_complete (h : looksComplete (.object raw) = true) :
    HttpExceptionFilter.catch (.http ⟨.object raw, status⟩) = ⟨status, raw.json⟩ := by
  rw [HttpExceptionFilter.catch, if_pos h]

/-- **What looks complete** has the shape only if it came with it. -/
theorem passed_shaped_iff (h : looksComplete (.object raw) = true) :
    Shaped (HttpExceptionFilter.catch (.http ⟨.object raw, status⟩)) ↔
      raw.get "statusCode" = some (.num status) ∧ (∃ code : ErrorCode, raw.get "error" = some (.str code.text)) ∧
        ∃ message : String, raw.get "message" = some (.str message) := by
  rw [catch_complete h, ← raw.field_json "statusCode", ← raw.field_json "error", ← raw.field_json "message"]
  exact ⟨fun h => ⟨h.statusCode, h.error, h.message⟩, fun ⟨hstatus, herror, hmessage⟩ => ⟨hstatus, herror, hmessage⟩⟩

/-- **Which answers have the shape.** -/
theorem shaped_iff (thrown : ThrownValue) : Shaped (HttpExceptionFilter.catch thrown) ↔
    ∀ raw status, thrown = .http ⟨.object raw, status⟩ → looksComplete (.object raw) = true →
      raw.get "statusCode" = some (.num status) ∧ (∃ code : ErrorCode, raw.get "error" = some (.str code.text)) ∧
        ∃ message : String, raw.get "message" = some (.str message) := by
  constructor
  · rintro hshaped raw status rfl hcomplete
    exact (passed_shaped_iff hcomplete).mp hshaped
  · intro hpassed
    match thrown with
    | .other => exact shape_shaped _ _ _
    | .http ⟨.string raw, status⟩ => exact normalised_shaped rfl
    | .http ⟨.object raw, status⟩ =>
      cases hcomplete : looksComplete (.object raw) with
      | false => exact normalised_shaped hcomplete
      | true => exact (passed_shaped_iff hcomplete).mpr (hpassed raw status rfl hcomplete)

/-- Every `AppException` has the shape, also with a status of its own. -/
theorem appException_shaped (errorCode : ErrorCode) (message : String) (statusCode : Option ℕ) :
    Shaped (HttpExceptionFilter.catch (.http (AppException errorCode message statusCode))) :=
  (passed_shaped_iff rfl).mpr ⟨rfl, ⟨errorCode, rfl⟩, ⟨message, rfl⟩⟩

/-- **A description for people** is passed on, and is no error code. -/
theorem described_unshaped {description : String} (hcomplete : looksComplete (.object raw) = true)
    (herror : raw.get "error" = some (.str description)) (hlower : ∃ c ∈ description.toList, ¬ (c.isUpper ∨ c = '_')) :
    ¬ Shaped (HttpExceptionFilter.catch (.http ⟨.object raw, status⟩)) := by
  intro hshaped
  obtain ⟨-, ⟨code, hcode⟩, -⟩ := (passed_shaped_iff hcomplete).mp hshaped
  obtain ⟨c, hc, hlower⟩ := hlower
  have htext : description = code.text := Json.str.inj (Option.some.inj (herror.symm.trans hcode))
  rw [htext] at hc
  exact hlower (code.text_upper c hc)

theorem builtIn_unshaped {description : String} (message : Json)
    (hlower : ∃ c ∈ description.toList, ¬ (c.isUpper ∨ c = '_')) :
    ¬ Shaped (HttpExceptionFilter.catch (.http (builtInException status message description))) :=
  described_unshaped rfl rfl hlower

/-- The error of a throttled request is the name of its status. -/
theorem throttled_unshaped : ¬ Shaped (HttpExceptionFilter.catch (.http throwThrottlingException)) :=
  described_unshaped rfl rfl ⟨'o', by decide, by decide⟩

end Catch

/-! ## What the services throw -/

/-- The value behind an error of the model, which leaves out the status that an `AppException` is given. -/
inductive Raises : Thrown → ThrownValue → Prop
  | app (code : ErrorCode) (message : String) (statusCode : Option ℕ) :
    Raises (.app code message) (.http (AppException code message statusCode))
  | http (message : String) (exception : HttpException) : Raises (.http exception.status message) (.http exception)
  | prisma (error : PrismaError) : Raises (.prisma error) .other
  | other (message : String) : Raises (.other message) .other

/-- The services are answered for in the shape, as long as they throw no exception of Nest's. -/
theorem Raises.shaped {thrown : Thrown} {value : ThrownValue} (h : Raises thrown value)
    (hown : ∀ status message, thrown ≠ .http status message) : Shaped (HttpExceptionFilter.catch value) := by
  cases h with
  | app code message statusCode => exact appException_shaped code message statusCode
  | http message exception => exact absurd rfl (hown exception.status message)
  | prisma error => exact shape_shaped _ _ _
  | other message => exact shape_shaped _ _ _

end IKash
