import AuthService.Preservation
import AuthService.Resumption.Refusal

/-!
# AuthService.Http

Requests as a client sends them, past the API key and the DTO validation, up to the status of the
answer.

* `HttpRequest`  — the headers and the route; `request` — what the controller makes of them.
* `refusal`      — the statements that PostgreSQL or Redis refuses because of what the client has sent.
* `program`      — the request served, statement by statement; `respond` — without interruption.
* `Exn.status`   — the filters.
* `Activity`, `performs` — requests, jobs and the passing of time; `During` — a property of every
  activity of a run, where it meets the world.
* `respond_traced` — a refused trace id costs a registration or a login its audit row.

What a statement computes from the clock, the configuration or a stored row is not judged here: the end
of a brute-force lock, the expiry of a new token, the counter of failed logins, and the instant at which
Redis would evict a key (`World.ranged`, `Route.Served`).

`AppModule` wires the API key guard only: `AdminOnlyGuard` is defined and stands before no route.
-/

namespace Auth

open Relational Resumption Prog

/-- A path parameter or an unvalidated body field that names a row. -/
inductive Id where
  | uuid (id : Nat)
  | malformed
  deriving DecidableEq

inductive Roles where
  | user
  | admin
  | moderator
  deriving DecidableEq

def Roles.value : Roles → String
  | .user => "USER"
  | .admin => "ADMIN"
  | .moderator => "MODERATOR"

/-- The `Authorization` header less its `Bearer `. A token that the service has not signed may have an
`exp` that is no whole number, here rounded up, or an `exp` or a `jti` that has no primitive value, as
`{"toString": 1}`: before the `SET` the conversion throws. On one whose header says `typ: JWT` and whose
payload is no JSON `jwt.decode` throws. -/
inductive Authorization where
  | token (token : Jwt)
  | inexact (claims : DecodedClaims)
  | textless (claims : DecodedClaims)
  | undecodable
  deriving DecidableEq

structure Headers where
  requestId : Option String
  userRoles : Option String
  userId : Option String
  userAgent : Option String
  authorization : Authorization
  deriving DecidableEq

/-- The routes with their validated bodies; the emails are as the client has sent them. -/
inductive Route where
  | register (email password : String)
  | login (email password : String)
  | logout (refreshToken : Nat)
  | validateToken (token : Jwt)
  | refreshToken (refreshToken : Nat)
  | revokeToken (userId : Option Id) (reason : Option String)
  | revokeAllTokens (userId : Id) (reason : Option String)
  | forgotPassword (email : String)
  | resetPassword (token : Nat) (newPassword : String)
  | introspect (token : Jwt)
  | getActiveSessions (userId : Id)
  | revokeSession (sessionId : Id)
  | assignRole (userId : Nat) (role : Roles)
  | revokeRole (userId : Nat) (role : Roles)
  | getUserRoles (userId : Id)
  | getAllRoles
  | lockAccount (userId : Nat) (reason : String) (durationMinutes : Option Nat)
  | unlockAccount (userId : Id)
  | banUser (userId : Nat) (reason : String)
  | deleteCredentials (userId : Id)
  deriving DecidableEq

structure HttpRequest where
  headers : Headers
  ip : Option String
  route : Route
  deriving DecidableEq

/-- The transform of the email fields: `value?.trim().toLowerCase()`. -/
def Env.normalizeEmail (env : Env) (email : String) : String := env.toLowerCase (env.trim email)

/-! ## What PostgreSQL and Redis can store -/

/-- A text without a NUL character in a column `VARCHAR(n)`. -/
def fitsVarchar (n : Nat) (text : String) : Bool :=
  text.length ≤ n && text.toList.all fun c => c.toNat ≠ 0

/-- A JSON text in a column `JSONB`: neither a NUL character nor a lone surrogate. -/
def fitsJsonb (env : Env) (text : String) : Bool :=
  env.isWellFormed text && text.toList.all fun c => c.toNat ≠ 0

def MetaValue.fits (env : Env) : MetaValue → Bool
  | .text s => fitsJsonb env s
  | .uuid id => fitsJsonb env (env.idText id)
  | _ => true

/-- The `metadata` of an audit row is JSONB. -/
def AuditLog.metadataFits (env : Env) (entry : AuditLog) : Bool :=
  entry.metadata.all fun metadata => metadata.all fun field => field.2.fits env

/-- The `user_id` of an audit row is a UUID. -/
def AuditLog.userIdFits (env : Env) (entry : AuditLog) : Bool :=
  entry.userId.all fun id => env.isUuid (env.idText id)

/-- `extractOrGenerateTraceId`: a generated trace id fits `audit_logs.trace_id`. -/
def Headers.traceIdFits (headers : Headers) : Bool := headers.requestId.all (fitsVarchar 36)

/-- The statement names a row by a parameter that is no UUID. -/
def Stmt.namesRow : Stmt → Bool
  | .newDate => false
  | _ => true

/-- What the statement holds of the client's data fits its columns. -/
def Route.storable (env : Env) (headers : Headers) : Route → Stmt → Bool
  | .register _ _, .createAuditLog _ => headers.traceIdFits
  | .login _ _, .createAuditLog _ => headers.traceIdFits
  | .logout _, .createAuditLog entry => entry.userIdFits env && entry.metadataFits env
  | .lockAccount _ _ _, .lockAccount _ lockedUntil => lockedUntil.all (· ≤ maxDate)
  | .lockAccount _ _ _, .revokeAllByUserId _ reason _ => fitsVarchar 255 reason
  | .lockAccount _ _ _, .createAuditLog entry => entry.metadataFits env
  | .banUser _ _, .revokeAllByUserId _ reason _ => fitsVarchar 255 reason
  | .banUser _ _, .createAuditLog entry => entry.metadataFits env
  | .revokeToken (some (.uuid _)) _, .revokeAllByUserId _ reason _ => fitsVarchar 255 reason
  | .revokeAllTokens (.uuid _) _, .revokeAllByUserId _ reason _ => fitsVarchar 255 reason
  | .revokeToken (some .malformed) _, s => !s.namesRow
  | .revokeAllTokens .malformed _, s => !s.namesRow
  | .getActiveSessions .malformed, s => !s.namesRow
  | .revokeSession .malformed, s => !s.namesRow
  | .getUserRoles .malformed, s => !s.namesRow
  | .unlockAccount .malformed, s => !s.namesRow
  | .deleteCredentials .malformed, s => !s.namesRow
  | _, _ => true

namespace HttpRequest

variable (env : Env) (r : HttpRequest)

/-- Why a statement of the request does not come through. `logout` decodes the access token before its
first statement; the key that it passes to Redis has the `jti` in its text, and the `EX` is what the token
has left. -/
def refusal (s : Stmt) : Option Exn :=
  match r.route, r.headers.authorization, s with
  | .logout _, .undecodable, _ => some (.error "Unexpected token in JSON")
  | .logout _, .inexact _, .setBlacklist _ _ =>
    some (.error "ERR value is not an integer or out of range")
  | .logout _, .textless _, .setBlacklist _ _ => some .typeError
  | .logout _, .token _, .setBlacklist _ ttlSeconds =>
    if ttlSeconds * 1000 ≤ maxEviction then none
    else some (.error "ERR invalid expire time in 'set' command")
  | route, _, s => if route.storable env r.headers s then none else some .dataException

/-! ## The controllers -/

/-- The row that a parameter names; where it names none, no statement with it comes through. -/
def idOf : Id → Nat
  | .uuid id => id
  | .malformed => 0

/-- `authHeader?.replace('Bearer ', '') ?? ''`. -/
def accessToken : Jwt :=
  match r.headers.authorization with
  | .token token => token
  | .inexact claims => .unsigned claims
  | .textless claims => .unsigned claims
  | .undecodable => .malformed

/-- The service call behind the route. Only register and login pass on the client's address. -/
def request : Request :=
  match r.route with
  | .register email password =>
    .register (env.normalizeEmail email) password r.ip r.headers.userAgent
  | .login email password => .login (env.normalizeEmail email) password r.ip r.headers.userAgent
  | .logout refreshToken => .logout r.accessToken refreshToken none none
  | .validateToken token => .validateToken token
  | .refreshToken refreshToken => .refreshToken refreshToken
  | .revokeToken userId reason => .revokeToken (userId.map idOf) reason
  | .revokeAllTokens userId reason => .revokeAllTokens (idOf userId) reason
  | .forgotPassword email => .forgotPassword (env.normalizeEmail email) none
  | .resetPassword token newPassword => .resetPassword token newPassword none
  | .introspect token => .introspect token
  | .getActiveSessions userId => .getActiveSessions (idOf userId)
  | .revokeSession sessionId => .revokeSession (idOf sessionId)
  | .assignRole userId role => .assignRole userId role.value (r.headers.userId.getD "")
  | .revokeRole userId role => .revokeRole userId role.value (r.headers.userId.getD "")
  | .getUserRoles userId => .getUserRoles (idOf userId)
  | .getAllRoles => .getAllRoles
  | .lockAccount userId reason durationMinutes =>
    .lockAccount userId reason durationMinutes r.headers.userId
  | .unlockAccount userId => .unlockAccount (idOf userId) r.headers.userId
  | .banUser userId reason => .banUser userId reason r.headers.userId
  | .deleteCredentials userId => .deleteCredentials (idOf userId)

def program : Prog sig.refusable Response := (handle env (r.request env)).submit (r.refusal env)

/-- The request served without interruption. -/
def respond (w : World) : Except Exn Response × World :=
  (r.program env).run (World.machine env).refusable w

end HttpRequest

/-- `HttpExceptionFilter`, `TypeOrmExceptionFilter`, and the default of NestJS for any other error. -/
def Exn.status : Exn → Nat
  | .conflict _ => 409
  | .unauthorized _ => 401
  | .forbidden _ => 403
  | .badRequest _ => 400
  | .uniqueViolation => 409
  | .foreignKeyViolation => 500
  | .dataException => 500
  | .error _ => 500
  | .typeError => 500

theorem status_of_refusal {env : Env} {r : HttpRequest} {s : Stmt} {e : Exn}
    (h : r.refusal env s = some e) : e.status = 500 := by
  unfold HttpRequest.refusal at h
  split at h
  · cases h
    rfl
  · cases h
    rfl
  · cases h
    rfl
  · split at h
    · cases h
    · cases h
      rfl
  · split at h
    · cases h
    · cases h
      rfl

/-! ## Runs -/

inductive Job where
  | unlockExpiredLockouts
  | cleanupRefreshTokens
  | cleanupPasswordResets
  deriving DecidableEq

def Job.request : Job → Request
  | .unlockExpiredLockouts => .unlockExpiredLockouts
  | .cleanupRefreshTokens => .cleanupRefreshTokens
  | .cleanupPasswordResets => .cleanupPasswordResets

inductive Activity where
  | http (request : HttpRequest)
  | job (job : Job)
  | pass (milliseconds : Nat)
  deriving DecidableEq

def perform (env : Env) (w : World) : Activity → World
  | .http r => (r.respond env w).2
  | .job j => (serve env j.request w).2
  | .pass n => { w with now := w.now + n }

def performs (env : Env) (w : World) (as : List Activity) : World := as.foldl (perform env) w

/-- `P` holds of every activity of a run, in the world that the activity meets. -/
def During (env : Env) (P : World → Activity → Prop) : World → List Activity → Prop
  | _, [] => True
  | w, a :: as => P w a ∧ During env P (perform env w a) as

variable {env : Env} {r : HttpRequest} {w : World}

@[simp] theorem performs_cons (w : World) (a : Activity) (as : List Activity) :
    performs env w (a :: as) = performs env (perform env w a) as := rfl

theorem during_of_forall {P : World → Activity → Prop} {as : List Activity}
    (h : ∀ w, ∀ a ∈ as, P w a) : During env P w as := by
  induction as generalizing w with
  | nil => trivial
  | cons a as ih =>
    exact ⟨h w a List.mem_cons_self, ih fun w a ha => h w a (List.mem_cons_of_mem _ ha)⟩

/-- The statements of an activity that can come through. -/
def Activity.footprint (env : Env) : Activity → Stmt → Prop
  | .http r, s => (r.request env).footprint s ∧ r.refusal env s = none
  | .job j, s => j.request.footprint s
  | .pass _, _ => False

/-! ## Requests that are not refused -/

/-- No statement of the request is refused. -/
def HttpRequest.Accepted (env : Env) (r : HttpRequest) (w : World) : Prop :=
  ∀ s ∈ (handle env (r.request env)).trace (World.machine env) w, r.refusal env s = none

theorem respond_accepted (h : r.Accepted env w) : r.respond env w = serve env (r.request env) w :=
  run_submit h

/-- What each statement of its footprint that is not refused keeps, a request keeps. -/
theorem respond_invariant {I : World → Prop}
    (hI : ∀ s w, (r.request env).footprint s → r.refusal env s = none → I w → I (World.exec env s w).2)
    (h : I w) : I (r.respond env w).2 :=
  run_submit_invariant (uses_handle _) hI h

/-- What each statement of its footprint keeps, an activity keeps. -/
theorem perform_invariant {I : World → Prop} {a : Activity}
    (hI : ∀ s w, a.footprint env s → I w → I (World.exec env s w).2)
    (hpass : ∀ w (n : Nat), I w → I { w with now := w.now + n }) (h : I w) : I (perform env w a) := by
  cases a with
  | http r => exact respond_invariant (fun s w hs hr => hI s w ⟨hs, hr⟩) h
  | job j => exact serve_invariant hI h
  | pass n => exact hpass w n h

/-! ## Refused audit rows -/

/-- The statement writes an audit row. -/
def Stmt.Audits : Stmt → Prop
  | .createAuditLog _ => True
  | _ => False

theorem not_audits_of_tacit {s : Stmt} (h : s.tacit = true) : ¬ s.Audits := by
  intro ha
  cases s <;> first | exact ha.elim | cases h

theorem closes_registerSession (c : UserCredential) (ipAddress userAgent : Option String) :
    (AuthService.registerSession env c ipAddress userAgent).Closes Stmt.Audits := by
  have hq : ∀ s : Stmt, s.tacit = true → ¬ s.Audits := fun s => not_audits_of_tacit
  unfold AuthService.registerSession
  refine closes_perform_bind id fun accessToken => ?_
  refine closes_bind (uses_generateRefreshToken_of_tacit hq fun _ _ => id) fun pair => ?_
  refine closes_bind (uses_enforceMaxSessions_of_tacit hq fun _ _ => id) fun _ => ?_
  refine closes_bind (uses_publish id fun _ => id) fun _ => ?_
  exact closes_last fun _ => trivial

theorem closes_register (email password : String) (ipAddress userAgent : Option String) :
    (AuthService.register env email password ipAddress userAgent).Closes Stmt.Audits := by
  unfold AuthService.register
  refine closes_perform_bind id fun existing => ?_
  cases existing with
  | some c => trivial
  | none =>
    refine closes_bind ?_ fun c => closes_registerSession c ipAddress userAgent
    exact uses_perform_bind id fun _ => (uses_perform _).mpr id

theorem closes_loginVerify (c : UserCredential) (email password : String)
    (ipAddress userAgent : Option String) :
    (AuthService.loginVerify env c email password ipAddress userAgent).Closes Stmt.Audits := by
  have hq : ∀ s : Stmt, s.tacit = true → ¬ s.Audits := fun s => not_audits_of_tacit
  unfold AuthService.loginVerify
  refine closes_perform_bind id fun valid => ?_
  cases valid with
  | true =>
    simp only [if_true]
    unfold AuthService.loginSucceeded
    refine closes_perform_bind id fun _ => ?_
    refine closes_bind (uses_perform_bind id fun _ => (uses_perform _).mpr id) fun _ => ?_
    refine closes_perform_bind id fun accessToken => ?_
    refine closes_bind (uses_generateRefreshToken_of_tacit hq fun _ _ => id) fun pair => ?_
    refine closes_bind (uses_enforceMaxSessions_of_tacit hq fun _ _ => id) fun _ => ?_
    refine closes_bind (uses_publish id fun _ => id) fun _ => ?_
    exact closes_last fun _ => trivial
  | false =>
    simp only [Bool.false_eq_true, if_false]
    unfold AuthService.loginFailed UserCredentialRepository.incrementFailedAttempts
    simp only [bind_eq, bind_assoc]
    refine closes_perform_bind id fun attempts? => ?_
    cases attempts? with
    | none => trivial
    | some n =>
      simp only [pure_eq, ret_bind]
      refine closes_bind (uses_publish id fun _ => id) fun _ => ?_
      refine closes_bind ?_ fun _ => closes_last fun _ => trivial
      unfold AuthService.lockOnBruteForce
      split
      · refine uses_perform_bind id fun _ => ?_
        refine uses_perform_bind id fun _ => ?_
        refine uses_bind (uses_publish id fun _ => id) fun _ => ?_
        exact uses_revokeAllUserTokens id fun _ => id
      · trivial

theorem closes_login (email password : String) (ipAddress userAgent : Option String) :
    (AuthService.login env email password ipAddress userAgent).Closes Stmt.Audits := by
  refine login_induction (fun s f hs hf => closes_perform_bind (fun h => ?_) hf)
    (fun _ _ => closes_last fun _ => trivial) (fun _ => trivial)
    fun c => closes_loginVerify c email password ipAddress userAgent
  cases s <;> first | exact h | cases hs

/-- The routes that pass their trace id on to an audit row. -/
def Route.traced : Route → Bool
  | .register _ _ => true
  | .login _ _ => true
  | _ => false

/-- A refused trace id costs the audit row, and nothing else of what a registration or a login does. -/
theorem respond_traced (env : Env) (hr : r.route.traced = true) (w : World) :
    ∃ logs, (serve env (r.request env) w).2 = { (r.respond env w).2 with auditLogs := logs } := by
  have hA : ∀ s, r.refusal env s ≠ none → s.Audits := by
    intro s hs
    unfold HttpRequest.refusal at hs
    cases hroute : r.route with
    | register | login => cases s <;> first | trivial | (rw [hroute] at hs; exact absurd rfl hs)
    | _ => rw [hroute] at hr; cases hr
  have hcloses : (handle env (r.request env)).Closes Stmt.Audits := by
    unfold HttpRequest.request
    cases hroute : r.route with
    | register => exact closes_map (closes_register _ _ _ _) _
    | login => exact closes_map (closes_login _ _ _ _) _
    | _ => rw [hroute] at hr; cases hr
  rcases run_submit_closing (M := World.machine env) hcloses hA w with hsame | ⟨s, hs, hlast⟩
  · exact ⟨(r.respond env w).2.auditLogs, hsame⟩
  · cases s
    case createAuditLog entry => exact ⟨_, hlast⟩
    all_goals exact hs.elim

/-- What every request keeps, also when parts of it are refused. -/
theorem Keeping.respond {I : World → Prop} (hI : Keeping env I)
    (hlogs : ∀ w logs, I w → I { w with auditLogs := logs }) (r : HttpRequest) (h : I w) :
    I (r.respond env w).2 := by
  have hfree : (∀ s, r.refusal env s = none) → I (r.respond env w).2 := fun hs => by
    rw [respond_accepted fun s _ => hs s]
    exact hI.serve _ h
  by_cases htraced : r.route.traced = true
  · obtain ⟨logs, hsame⟩ := respond_traced env htraced w
    have hserved := hlogs _ (r.respond env w).2.auditLogs (hI.serve (r.request env) h)
    rw [hsame] at hserved
    exact hserved
  · by_cases hplain : (r.request env).plain = true
    · exact respond_invariant (fun s w hs _ => hI.exec s w (plain_of_footprint hplain hs)) h
    · refine hfree fun s => ?_
      unfold HttpRequest.refusal
      unfold HttpRequest.request at hplain
      cases hroute : r.route with
      | register | login => rw [hroute] at htraced; exact absurd rfl htraced
      | refreshToken | forgotPassword => rfl
      | _ => rw [hroute] at hplain; exact absurd rfl hplain

theorem Keeping.perform {I : World → Prop} (hI : Keeping env I)
    (hlogs : ∀ w logs, I w → I { w with auditLogs := logs }) (a : Activity) (h : I w) :
    I (perform env w a) := by
  cases a with
  | http r => exact hI.respond hlogs r h
  | job j => exact hI.serve j.request h
  | pass n => exact hI.pass w n h

end Auth
