import AuthService.Env
import AuthService.Resumption.Prog

/-!
# AuthService.World

The shared state behind the services and the atomic statements issued against it.

* `World`     — the five PostgreSQL tables, the Redis blacklist, the events handed to RabbitMQ, the
  access tokens ever signed, the supply of fresh UUIDs and the clock.
* `Stmt`      — one constructor for each repository method's statement, each Redis command and each
  process-local effect (clock, UUID, password hash, signature), under the method's name.
* `World.exec` — what PostgreSQL, Redis or the process does for one statement, and its reply.

A statement is atomic. Constraint violations are replies: a duplicate key, or a foreign key to a
missing user. Deleting a user cascades to both token tables. What its column cannot hold, and what Redis
does not take, for what the client has sent does not come this far: `HttpRequest.refusal` stops it.
`exec` does not bound dates and counters: the counter of failed logins and the end of a brute-force lock
have their bounds in `World.ranged`, and `Route.Served` asks for those and for the expiry of a new token.
-/

namespace Auth

open Relational Resumption

/-- Exceptions a service raises or lets through; the last three are `QueryFailedError`s. -/
inductive Exn where
  | conflict (message : String)
  | unauthorized (message : String)
  | forbidden (message : String)
  | badRequest (message : String)
  | error (message : String)
  | typeError
  | uniqueViolation
  | foreignKeyViolation
  | dataException
  deriving DecidableEq

namespace ErrorMessages

def AUTH_INVALID_CREDENTIALS : String := "Invalid email or password"
def AUTH_EMAIL_EXISTS : String := "An account with this email already exists"
def AUTH_ACCOUNT_LOCKED : String :=
  "Account is temporarily locked due to multiple failed login attempts"
def AUTH_ACCOUNT_BANNED : String := "Account has been permanently banned"
def AUTH_TOKEN_REUSE_DETECTED : String :=
  "Token reuse detected — all sessions have been revoked for security"
def AUTH_REFRESH_TOKEN_INVALID : String := "Invalid or expired refresh token"
def AUTH_PASSWORD_RESET_INVALID : String := "Invalid or expired password reset token"
def AUTH_PASSWORD_RESET_USED : String := "Password reset token has already been used"
def AUTH_USER_NOT_FOUND : String := "User not found"

end ErrorMessages

/-- A `blacklist:<jti>` key and the instant Redis evicts it. -/
structure BlacklistEntry where
  jti : Nat
  evictedAt : Int
  deriving DecidableEq

/-- A `Date` beyond this time value is invalid, and PostgreSQL refuses it. -/
def maxDate : Int := 8640000000000000

/-- The largest value of an `INTEGER` column. -/
def maxInteger : Nat := 2147483647

/-- The latest instant, in milliseconds, at which Redis can evict a key. -/
def maxEviction : Int := 9223372036854775807

structure World where
  credentials : Table UserCredential
  refreshTokens : Table RefreshToken
  passwordResetTokens : Table PasswordResetToken
  roles : Table Role
  auditLogs : List AuditLog
  blacklist : List BlacklistEntry
  published : List DomainEvent
  signed : List JwtPayload
  supply : Nat
  now : Int

/-- The payload of `RefreshTokenRepository.create`, with the `issuedAt` it adds. -/
structure NewRefreshToken where
  userId : Nat
  tokenHash : TokenHash
  expiresAt : Int
  issuedAt : Int
  deviceFingerprint : Option String
  ipAddress : Option String
  userAgent : Option String

inductive Stmt where
  -- the process
  | newDate
  | uuidv4
  | hashPassword (password : String)
  | verifyPassword (storedHash password : String)
  | signAccessToken (sub : Nat) (email : String) (roles : List String) (tokenType : TokenType)
  -- user_credentials
  | findCredentialById (id : Nat)
  | findCredentialByEmail (email : String)
  | createCredential (email passwordHash : String) (roles : List String)
  | updateStatus (id : Nat) (status : UserStatus)
  | incrementFailedAttempts (id : Nat)
  | resetFailedAttempts (id : Nat)
  | lockAccount (id : Nat) (lockedUntil : Option Int)
  | unlockAccount (id : Nat)
  | updateLastLogin (id : Nat) (ip : String) (lastLoginAt : Int)
  | updatePassword (id : Nat) (passwordHash : String) (passwordChangedAt : Int)
  | updateRoles (id : Nat) (roles : List String)
  | deleteCredential (id : Nat)
  | findLockedAccountsToUnlock (now : Int)
  -- refresh_tokens
  | createRefreshToken (data : NewRefreshToken)
  | findRefreshTokenByHash (tokenHash : TokenHash)
  | findActiveByUserId (userId : Nat) (now : Int)
  | revokeToken (id : Nat) (reason : String) (revokedAt : Int)
  | revokeAllByUserId (userId : Nat) (reason : String) (revokedAt : Int)
  | setReplacedBy (id replacedByTokenId : Nat)
  | updateLastUsed (id : Nat) (lastUsedAt : Int)
  | countActiveByUserId (userId : Nat) (now : Int)
  | findOldestActiveByUserId (userId : Nat) (now : Int)
  | deleteExpiredAndRevoked (now : Int)
  -- password_reset_tokens
  | createPasswordResetToken (userId : Nat) (tokenHash : TokenHash) (expiresAt : Int)
  | findResetTokenByHash (tokenHash : TokenHash)
  | markAsUsed (id : Nat) (usedAt : Int)
  | deleteExpiredOrUsed (now : Int)
  | deleteResetTokensByUserId (userId : Nat)
  -- roles and audit_logs
  | findAllRoles
  | findRoleByName (name : String)
  | createAuditLog (entry : AuditLog)
  -- Redis and RabbitMQ
  | setBlacklist (jti : Nat) (ttlSeconds : Int)
  | existsBlacklist (jti : Nat)
  | publish (event : DomainEvent)

@[reducible] def Stmt.Reply : Stmt → Type
  | .newDate => Int
  | .uuidv4 => Nat
  | .hashPassword _ => String
  | .verifyPassword _ _ => Bool
  | .signAccessToken _ _ _ _ => Jwt
  | .findCredentialById _ => Option UserCredential
  | .findCredentialByEmail _ => Option UserCredential
  | .createCredential _ _ _ => UserCredential
  | .updateStatus _ _ => Unit
  | .incrementFailedAttempts _ => Option Nat
  | .resetFailedAttempts _ => Unit
  | .lockAccount _ _ => Unit
  | .unlockAccount _ => Unit
  | .updateLastLogin _ _ _ => Unit
  | .updatePassword _ _ _ => Unit
  | .updateRoles _ _ => Unit
  | .deleteCredential _ => Bool
  | .findLockedAccountsToUnlock _ => List UserCredential
  | .createRefreshToken _ => RefreshToken
  | .findRefreshTokenByHash _ => Option RefreshToken
  | .findActiveByUserId _ _ => List RefreshToken
  | .revokeToken _ _ _ => Unit
  | .revokeAllByUserId _ _ _ => Nat
  | .setReplacedBy _ _ => Unit
  | .updateLastUsed _ _ => Unit
  | .countActiveByUserId _ _ => Nat
  | .findOldestActiveByUserId _ _ => Option RefreshToken
  | .deleteExpiredAndRevoked _ => Nat
  | .createPasswordResetToken _ _ _ => PasswordResetToken
  | .findResetTokenByHash _ => Option PasswordResetToken
  | .markAsUsed _ _ => Unit
  | .deleteExpiredOrUsed _ => Nat
  | .deleteResetTokensByUserId _ => Unit
  | .findAllRoles => List Role
  | .findRoleByName _ => Option Role
  | .createAuditLog _ => Unit
  | .setBlacklist _ _ => Unit
  | .existsBlacklist _ => Bool
  | .publish _ => Unit

abbrev sig : Sig := ⟨Stmt, Stmt.Reply, Exn⟩

abbrev AuthProg (α : Type) : Type := Prog sig α

/-! ## `SET` clauses -/

namespace UserCredential

def setStatus (status : UserStatus) : Patch UserCredential :=
  ⟨fun c => { c with status }, fun _ => rfl, fun _ => rfl⟩

def incrementFailedAttempts : Patch UserCredential :=
  ⟨fun c => { c with failedLoginAttempts := c.failedLoginAttempts + 1 }, fun _ => rfl, fun _ => rfl⟩

def resetFailedAttempts : Patch UserCredential :=
  ⟨fun c => { c with failedLoginAttempts := 0 }, fun _ => rfl, fun _ => rfl⟩

def lock (lockedUntil : Option Int) : Patch UserCredential :=
  ⟨fun c => { c with status := .locked, lockedUntil }, fun _ => rfl, fun _ => rfl⟩

def unlock : Patch UserCredential :=
  ⟨fun c => { c with status := .active, failedLoginAttempts := 0, lockedUntil := none },
    fun _ => rfl, fun _ => rfl⟩

def setLastLogin (ip : String) (lastLoginAt : Int) : Patch UserCredential :=
  ⟨fun c => { c with lastLoginAt := some lastLoginAt, lastLoginIp := some ip },
    fun _ => rfl, fun _ => rfl⟩

def setPassword (passwordHash : String) (passwordChangedAt : Int) : Patch UserCredential :=
  ⟨fun c => { c with passwordHash, passwordChangedAt := some passwordChangedAt },
    fun _ => rfl, fun _ => rfl⟩

def setRoles (roles : List String) : Patch UserCredential :=
  ⟨fun c => { c with roles }, fun _ => rfl, fun _ => rfl⟩

end UserCredential

namespace RefreshToken

def revoke (reason : String) (revokedAt : Int) : Patch RefreshToken :=
  ⟨fun t => { t with
      revoked := true, revokedAt := some revokedAt, revocationReason := some reason },
    fun _ => rfl, fun _ => rfl⟩

def setReplacedBy (replacedByTokenId : Nat) : Patch RefreshToken :=
  ⟨fun t => { t with replacedByTokenId := some replacedByTokenId }, fun _ => rfl, fun _ => rfl⟩

def setLastUsed (lastUsedAt : Int) : Patch RefreshToken :=
  ⟨fun t => { t with lastUsedAt := some lastUsedAt }, fun _ => rfl, fun _ => rfl⟩

end RefreshToken

def PasswordResetToken.markUsed (usedAt : Int) : Patch PasswordResetToken :=
  ⟨fun t => { t with used := true, usedAt := some usedAt }, fun _ => rfl, fun _ => rfl⟩

/-! ## Statements -/

namespace World

/-- `UPDATE user_credentials SET f WHERE id = ...`. -/
def updateCredential (w : World) (id : Nat) (f : Patch UserCredential) : World :=
  { w with credentials := w.credentials.updateWhere (fun c => c.id = id) f }

/-- `UPDATE refresh_tokens SET f WHERE p`. -/
def updateRefreshTokens (w : World) (p : RefreshToken → Bool) (f : Patch RefreshToken) : World :=
  { w with refreshTokens := w.refreshTokens.updateWhere p f }

/-- A row `INSERT INTO user_credentials` adds: the unset columns take their defaults. -/
def newCredential (id : Nat) (email passwordHash : String) (roles : List String) :
    UserCredential where
  id := id
  email := email
  passwordHash := passwordHash
  status := .active
  roles := roles
  failedLoginAttempts := 0
  lockedUntil := none
  lastLoginAt := none
  lastLoginIp := none
  passwordChangedAt := none

/-- A row `INSERT INTO refresh_tokens` adds. -/
def newRefreshToken (id : Nat) (data : NewRefreshToken) : RefreshToken where
  id := id
  userId := data.userId
  tokenHash := data.tokenHash
  issuedAt := data.issuedAt
  expiresAt := data.expiresAt
  revoked := false
  revokedAt := none
  revocationReason := none
  deviceFingerprint := data.deviceFingerprint
  ipAddress := data.ipAddress
  userAgent := data.userAgent
  lastUsedAt := none
  replacedByTokenId := none

def hasUser (w : World) (userId : Nat) : Bool := w.credentials.rows.any fun c => c.id = userId

/-- The rows the 7-day cleanup of `refresh_tokens` deletes. -/
def expiredOrLongRevoked (now : Int) (t : RefreshToken) : Bool :=
  t.expiresAt < now || (t.revoked && match t.revokedAt with
    | some at' => at' < now - 7 * 24 * 60 * 60 * 1000
    | none => false)

/-- Seconds since the epoch: `Math.floor(Date.now() / 1000)`. -/
def seconds (now : Int) : Int := now / 1000

/-- `SET blacklist:<jti> 1 EX ttl`: an earlier key of the same name is replaced. -/
def setBlacklist (w : World) (jti : Nat) (ttlSeconds : Int) : World :=
  { w with blacklist := ⟨jti, w.now + ttlSeconds * 1000⟩ :: w.blacklist.filter (·.jti ≠ jti) }

/-- `EXISTS blacklist:<jti>`. -/
def isBlacklisted (w : World) (jti : Nat) : Bool :=
  w.blacklist.any fun e => e.jti = jti && w.now < e.evictedAt

def exec (env : Env) : (s : Stmt) → World → Except Exn s.Reply × World
  | .newDate, w => (.ok w.now, w)
  | .uuidv4, w => (.ok w.supply, { w with supply := w.supply + 1 })
  | .hashPassword password, w =>
    match env.hashPassword password w.supply with
    | some hash => (.ok hash, { w with supply := w.supply + 1 })
    | none => (.error (.error "hashing failed"), w)
  | .verifyPassword storedHash password, w => (.ok (env.verifyPassword storedHash password), w)
  | .signAccessToken sub email roles tokenType, w =>
    match env.timespan env.accessTokenExpiry with
    | none => (.error (.error "expiresIn is not a timespan"), w)
    | some lifetime =>
      let iat := seconds w.now
      let payload : JwtPayload :=
        ⟨sub, email, roles, tokenType, w.supply, iat, iat + lifetime, env.issuer, env.audience⟩
      (.ok (.signed payload), { w with signed := payload :: w.signed, supply := w.supply + 1 })
  | .findCredentialById id, w => (.ok (w.credentials.find? fun c => c.id = id), w)
  | .findCredentialByEmail email, w =>
    (.ok (w.credentials.find? fun c => env.sqlLower c.email = env.sqlLower email), w)
  | .createCredential email passwordHash roles, w =>
    let row := newCredential w.supply email passwordHash roles
    match w.credentials.insert? row with
    | some t => (.ok row, { w with credentials := t, supply := w.supply + 1 })
    | none => (.error .uniqueViolation, w)
  | .updateStatus id status, w => (.ok (), w.updateCredential id (UserCredential.setStatus status))
  | .incrementFailedAttempts id, w =>
    let w' := w.updateCredential id UserCredential.incrementFailedAttempts
    (.ok ((w'.credentials.find? fun c => c.id = id).map (·.failedLoginAttempts)), w')
  | .resetFailedAttempts id, w => (.ok (), w.updateCredential id UserCredential.resetFailedAttempts)
  | .lockAccount id lockedUntil, w => (.ok (), w.updateCredential id (UserCredential.lock lockedUntil))
  | .unlockAccount id, w => (.ok (), w.updateCredential id UserCredential.unlock)
  | .updateLastLogin id ip lastLoginAt, w =>
    (.ok (), w.updateCredential id (UserCredential.setLastLogin ip lastLoginAt))
  | .updatePassword id passwordHash passwordChangedAt, w =>
    (.ok (), w.updateCredential id (UserCredential.setPassword passwordHash passwordChangedAt))
  | .updateRoles id roles, w => (.ok (), w.updateCredential id (UserCredential.setRoles roles))
  | .deleteCredential id, w =>
    (.ok (w.hasUser id),
      { w with
        credentials := w.credentials.deleteWhere fun c => c.id = id
        refreshTokens := w.refreshTokens.deleteWhere fun t => t.userId = id
        passwordResetTokens := w.passwordResetTokens.deleteWhere fun t => t.userId = id })
  | .findLockedAccountsToUnlock now, w =>
    (.ok (w.credentials.select fun c =>
      c.status = .locked && match c.lockedUntil with
        | some t => t < now
        | none => false), w)
  | .createRefreshToken data, w =>
    if w.hasUser data.userId then
      let row := newRefreshToken w.supply data
      match w.refreshTokens.insert? row with
      | some t => (.ok row, { w with refreshTokens := t, supply := w.supply + 1 })
      | none => (.error .uniqueViolation, w)
    else (.error .foreignKeyViolation, w)
  | .findRefreshTokenByHash tokenHash, w =>
    (.ok (w.refreshTokens.find? fun t => t.tokenHash = tokenHash), w)
  | .findActiveByUserId userId now, w =>
    (.ok (w.refreshTokens.select fun t => t.userId = userId && t.active now), w)
  | .revokeToken id reason revokedAt, w =>
    (.ok (), w.updateRefreshTokens (fun t => t.id = id) (RefreshToken.revoke reason revokedAt))
  | .revokeAllByUserId userId reason revokedAt, w =>
    (.ok (w.refreshTokens.select fun t => t.userId = userId && !t.revoked).length,
      w.updateRefreshTokens (fun t => t.userId = userId && !t.revoked) (RefreshToken.revoke reason revokedAt))
  | .setReplacedBy id replacedByTokenId, w =>
    (.ok (), w.updateRefreshTokens (fun t => t.id = id) (RefreshToken.setReplacedBy replacedByTokenId))
  | .updateLastUsed id lastUsedAt, w =>
    (.ok (), w.updateRefreshTokens (fun t => t.id = id) (RefreshToken.setLastUsed lastUsedAt))
  | .countActiveByUserId userId now, w =>
    (.ok (w.refreshTokens.select fun t => t.userId = userId && t.active now).length, w)
  | .findOldestActiveByUserId userId now, w =>
    (.ok (env.oldest.pick (w.refreshTokens.select fun t => t.userId = userId && t.active now)), w)
  | .deleteExpiredAndRevoked now, w =>
    (.ok (w.refreshTokens.select (expiredOrLongRevoked now)).length,
      { w with refreshTokens := w.refreshTokens.deleteWhere (expiredOrLongRevoked now) })
  | .createPasswordResetToken userId tokenHash expiresAt, w =>
    if w.hasUser userId then
      let row : PasswordResetToken := ⟨w.supply, userId, tokenHash, expiresAt, false, none⟩
      match w.passwordResetTokens.insert? row with
      | some t => (.ok row, { w with passwordResetTokens := t, supply := w.supply + 1 })
      | none => (.error .uniqueViolation, w)
    else (.error .foreignKeyViolation, w)
  | .findResetTokenByHash tokenHash, w =>
    (.ok (w.passwordResetTokens.find? fun t => t.tokenHash = tokenHash), w)
  | .markAsUsed id usedAt, w =>
    (.ok (), { w with
      passwordResetTokens := w.passwordResetTokens.updateWhere (fun t => t.id = id)
        (PasswordResetToken.markUsed usedAt) })
  | .deleteExpiredOrUsed now, w =>
    (.ok (w.passwordResetTokens.select fun t => t.expiresAt < now || t.used).length,
      { w with passwordResetTokens :=
          w.passwordResetTokens.deleteWhere fun t => t.expiresAt < now || t.used })
  | .deleteResetTokensByUserId userId, w =>
    (.ok (), { w with
      passwordResetTokens := w.passwordResetTokens.deleteWhere fun t => t.userId = userId })
  | .findAllRoles, w => (.ok w.roles.rows, w)
  | .findRoleByName name, w => (.ok (w.roles.find? fun r => r.name = name), w)
  | .createAuditLog entry, w => (.ok (), { w with auditLogs := w.auditLogs ++ [entry] })
  | .setBlacklist jti ttlSeconds, w => (.ok (), w.setBlacklist jti ttlSeconds)
  | .existsBlacklist jti, w => (.ok (w.isBlacklisted jti), w)
  | .publish event, w => (.ok (), { w with published := w.published ++ [event] })

/-- The statements over a world; a tick is one millisecond. -/
def machine (env : Env) : Machine sig World := ⟨exec env, fun n w => { w with now := w.now + n }⟩

/-- An empty database with the roles the migrations seed. -/
def initial (roles : Table Role) (supply : Nat) (now : Int) : World where
  credentials := .empty
  refreshTokens := .empty
  passwordResetTokens := .empty
  roles := roles
  auditLogs := []
  blacklist := []
  published := []
  signed := []
  supply := supply
  now := now

end World
end Auth
